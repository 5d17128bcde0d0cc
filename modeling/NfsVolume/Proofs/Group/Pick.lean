import Mathlib.Data.List.Basic
import Mathlib.Logic.ExistsUnique
import NfsVolume.Group.Pick
import NfsVolume.Proofs.Group.Imposed
import NfsVolume.Proofs.World.Circumstances
import NfsVolume.Proofs.World.Draws

/-! Picking a group in two stages: a position in the list of ranges, and then an id of the range
there. Each position and each id come of exactly one of the numbers that can be drawn for them. -/
namespace NfsVolume

/-- How many ids there are in a range. -/
def GroupRange.size (range : GroupRange) : Int := range.max - range.min + 1

namespace Group

open Run

/-- The random numbers of a world select a position: whatever ranges are in a list of that length,
an id of the one at the position is picked. -/
def Selects (w : World) (length i : Nat) : Prop :=
  ∀ ranges : List GroupRange, ranges.length = length → Filled ranges →
    ∃ range gid, ranges[i]? = some range ∧ (pickGroup ranges w).1 = .ok gid ∧
      range.min ≤ gid ∧ gid ≤ range.max

variable {ranges : List GroupRange} {range : GroupRange} {w : World} {length i : Nat} {gid : Int}

/-- What is drawn for a range is one of its ids. -/
theorem drawn_mem (h : range.min ≤ range.max) (n : Int) :
    range.min ≤ range.min + n % range.size ∧ range.min + n % range.size ≤ range.max := by
  have hpos : 0 < range.size := by
    unfold GroupRange.size
    omega
  have hnonneg := Int.emod_nonneg n (Int.ne_of_gt hpos)
  have hless := Int.emod_lt_of_pos n hpos
  unfold GroupRange.size at hnonneg hless ⊢
  omega

theorem drawBetween_apply (h : range.min ≤ range.max) (w : World) :
    drawBetween range.min range.max w = (.ok (range.min + w.draws.headD 0 % range.size),
      w.retold (w.draws.drop 1) (w.events ++ [.draw range.size])) := by
  rw [drawBetween, if_neg (by omega)]
  rfl

/-- The position for which the next random number stands. -/
def position (w : World) (length : Nat) : Nat := (w.draws.headD 0 % length).toNat

theorem position_lt (h : 0 < length) (w : World) : position w length < length := by
  have hpos : (0 : Int) < length := by exact_mod_cast h
  have hnonneg := Int.emod_nonneg (w.draws.headD 0) (Int.ne_of_gt hpos)
  have hless := Int.emod_lt_of_pos (w.draws.headD 0) hpos
  unfold position
  omega

/-- Two numbers are drawn, the position and how far behind the first id of its range. -/
theorem pickGroup_apply (hfound : ranges[position w ranges.length]? = some range)
    (h : range.min ≤ range.max) :
    pickGroup ranges w = (.ok (range.min + (w.draws.drop 1).headD 0 % range.size),
      w.retold (w.draws.drop 2) (w.events ++ [.draw ranges.length] ++ [.draw range.size])) := by
  cases ranges with
  | nil => cases hfound
  | cons first rest =>
    have hdraw : Outside.drawBelow (first :: rest).length w =
        (.ok (w.draws.headD 0 % (first :: rest).length),
          w.retold (w.draws.drop 1) (w.events ++ [.draw (first :: rest).length])) := rfl
    have hchosen : (first :: rest).getD (position w (first :: rest).length) first = range := by
      rw [List.getD_eq_getElem?_getD, hfound]
      rfl
    rw [position] at hchosen
    rw [pickGroup, bind_ok hdraw]
    rw [hchosen, drawBetween_apply h]
    simp [World.retold]

theorem exists_position (hne : ranges ≠ []) (w : World) :
    ∃ range ∈ ranges, ranges[position w ranges.length]? = some range := by
  have hlt := position_lt (List.length_pos_iff.mpr hne) w
  exact ⟨_, List.getElem_mem hlt, List.getElem?_eq_getElem hlt⟩

theorem selects_position (h : 0 < length) (w : World) : Selects w length (position w length) := by
  rintro ranges rfl hfilled
  obtain ⟨range, hrange, hfound⟩ := exists_position (List.ne_nil_of_length_pos h) w
  have hsome := hfilled range hrange
  exact ⟨range, _, hfound, congrArg Prod.fst (pickGroup_apply hfound hsome), drawn_mem hsome _⟩

/-- Ranges that tell their positions. -/
def marks (length : Nat) : List GroupRange := (List.range length).map fun k : Nat => ⟨k, k⟩

theorem length_marks (length : Nat) : (marks length).length = length := by simp [marks]

theorem filled_marks (length : Nat) : Filled (marks length) := by
  intro range hrange
  obtain ⟨k, -, rfl⟩ := List.mem_map.mp hrange
  exact Int.le_refl _

theorem eq_of_marks (h : (marks length)[i]? = some range) : range = ⟨i, i⟩ := by
  obtain ⟨hlt, hrange⟩ := List.getElem?_eq_some_iff.mp h
  simpa [marks] using hrange.symm

/-- No other position is selected than the one that is drawn. -/
theorem Selects.eq_position (h : Selects w length i) (hpos : 0 < length) :
    i = position w length := by
  obtain ⟨range, gid, hrange, hpick, hgid⟩ := h _ (length_marks length) (filled_marks length)
  obtain ⟨drawn, gid', hdrawn, hpick', hgid'⟩ :=
    selects_position hpos w _ (length_marks length) (filled_marks length)
  obtain rfl := Except.ok.inj (hpick.symm.trans hpick')
  rw [eq_of_marks hrange] at hgid
  rw [eq_of_marks hdrawn] at hgid'
  dsimp only at hgid hgid'
  omega

theorem selects_iff (h : 0 < length) : Selects w length i ↔ i = position w length := by
  constructor
  · exact fun hselects => hselects.eq_position h
  · rintro rfl
    exact selects_position h w

section
variable {a b : Int} {draws : List Int}

theorem position_of_draws (hw : w.draws = a :: draws) (ha : 0 ≤ a ∧ a < length) :
    position w length = a.toNat := by
  unfold position
  rw [hw, List.headD_cons, Int.emod_eq_of_lt ha.1 ha.2]

theorem selects_iff_of_draws (hw : w.draws = a :: draws) (ha : 0 ≤ a ∧ a < length) :
    Selects w length i ↔ a = i := by
  rw [selects_iff (by omega), position_of_draws hw ha]
  omega

/-- Numbers below their bounds are the position and how far the id is behind the first one. -/
theorem pickGroup_of_draws (hw : w.draws = a :: b :: draws) (ha : 0 ≤ a ∧ a < ranges.length)
    (hfound : ranges[a.toNat]? = some range) (hb : 0 ≤ b ∧ b < range.size) :
    pickGroup ranges w = (.ok (range.min + b),
      w.retold draws (w.events ++ [.draw ranges.length] ++ [.draw range.size])) := by
  have hsome : range.min ≤ range.max := by
    unfold GroupRange.size at hb
    omega
  rw [← position_of_draws hw ha] at hfound
  rw [pickGroup_apply hfound hsome, hw]
  simp only [List.drop_succ_cons, List.drop_zero, List.headD_cons, Int.emod_eq_of_lt hb.1 hb.2]

end

/-- From ranges with ids two numbers are drawn, one below the number of ranges and one below the
size of the range at the position that is selected, and an id of that range is returned. Of all
numbers that can be drawn, exactly one pair selects a given position and returns a given id of the
range there. From no ranges nothing is drawn. -/
theorem pickGroup_two_stages (hne : ranges ≠ []) (hfilled : Filled ranges) :
    (∀ w, ∃ i range gid, ranges[i]? = some range ∧ Selects w ranges.length i ∧
        (range.min ≤ gid ∧ gid ≤ range.max) ∧
        pickGroup ranges w = (.ok gid, w.retold (w.draws.drop 2)
          (w.events ++ [.draw ranges.length] ++ [.draw range.size]))) ∧
      (∀ (i : Nat) (range : GroupRange) (gid : Int), ranges[i]? = some range →
        range.min ≤ gid → gid ≤ range.max → ∀ (w : World) (more : List Int),
          ∃! draws : Int × Int,
            (0 ≤ draws.1 ∧ draws.1 < ranges.length) ∧ (0 ≤ draws.2 ∧ draws.2 < range.size) ∧
            Selects { w with draws := draws.1 :: draws.2 :: more } ranges.length i ∧
            (pickGroup ranges { w with draws := draws.1 :: draws.2 :: more }).1 = .ok gid) ∧
      ∀ w, pickGroup [] w = (.error (.provisioning .noGroups), w) := by
  have hpos : 0 < ranges.length := List.length_pos_iff.mpr hne
  refine ⟨fun w => ?_, fun i range gid hfound hleast hmost w more => ?_, fun w => rfl⟩
  · obtain ⟨range, hrange, hfound⟩ := exists_position hne w
    have hsome := hfilled range hrange
    exact ⟨_, range, _, hfound, selects_position hpos w, drawn_mem hsome _,
      pickGroup_apply hfound hsome⟩
  · obtain ⟨hlt, -⟩ := List.getElem?_eq_some_iff.mp hfound
    have hin : 0 ≤ (i : Int) ∧ (i : Int) < ranges.length := by omega
    have hbehind : 0 ≤ gid - range.min ∧ gid - range.min < range.size := by
      unfold GroupRange.size
      omega
    have hi : ranges[(i : Int).toNat]? = some range := by rwa [Int.toNat_natCast]
    refine ⟨(i, gid - range.min), ⟨hin, hbehind, (selects_iff_of_draws rfl hin).mpr rfl, ?_⟩, ?_⟩
    · have hsum : range.min + (gid - range.min) = gid := by omega
      rw [pickGroup_of_draws rfl hin hi hbehind, hsum]
    · rintro ⟨a, b⟩ ⟨ha, hb, hselects, hpick⟩
      obtain rfl := (selects_iff_of_draws rfl ha).mp hselects
      rw [pickGroup_of_draws rfl ha hi hb] at hpick
      have hgid := Except.ok.inj hpick
      exact Prod.ext rfl (by dsimp only; omega)

/-- An id of two ranges comes of one pair of numbers for each of them. -/
theorem pickGroup_two_stages_overlapping :
    let ranges : List GroupRange := [⟨5, 7⟩, ⟨-3, -3⟩, ⟨6, 6⟩]
    let drawing (draws : Int × Int) : World :=
      { World.ofFiles ⟨[]⟩ with draws := [draws.1, draws.2] }
    (∃ i range gid, ranges[i]? = some range ∧ Selects (drawing (4, -1)) 3 i ∧
        (range.min ≤ gid ∧ gid ≤ range.max) ∧
        pickGroup ranges (drawing (4, -1)) = (.ok gid, (drawing (4, -1)).retold []
          [.draw 3, .draw range.size])) ∧
      (∃! draws : Int × Int, (0 ≤ draws.1 ∧ draws.1 < 3) ∧ (0 ≤ draws.2 ∧ draws.2 < 3) ∧
        Selects (drawing draws) 3 0 ∧ (pickGroup ranges (drawing draws)).1 = .ok 6) ∧
      ∃! draws : Int × Int, (0 ≤ draws.1 ∧ draws.1 < 3) ∧ (0 ≤ draws.2 ∧ draws.2 < 1) ∧
        Selects (drawing draws) 3 2 ∧ (pickGroup ranges (drawing draws)).1 = .ok 6 := by
  intro ranges drawing
  have hfilled : Filled ranges := by
    unfold Filled
    decide
  obtain ⟨hpick, hpair, -⟩ := pickGroup_two_stages (List.cons_ne_nil _ _) hfilled
  exact ⟨hpick (drawing (4, -1)),
    hpair 0 ⟨5, 7⟩ 6 rfl (by decide) (by decide) (World.ofFiles ⟨[]⟩) [],
    hpair 2 ⟨6, 6⟩ 6 rfl (by decide) (by decide) (World.ofFiles ⟨[]⟩) []⟩

end Group
end NfsVolume
