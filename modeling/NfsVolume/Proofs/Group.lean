import NfsVolume.Proofs.Lookup
import NfsVolume.Proofs.World.Events

/-! Picking a group: the id lies in one of the ranges, and nothing is refused but having none. -/
namespace NfsVolume.Group

open Run

variable {ranges : List GroupRange} {first last gid : Int} {w v : World}

/-- A number is drawn from the first to the last, both included. -/
theorem of_drawBetween (h : drawBetween first last w = (.ok gid, v)) :
    (first ≤ gid ∧ gid ≤ last) ∧ v.events = w.events ++ [.draw (last - first + 1)] := by
  unfold drawBetween at h
  split at h
  · cases h
  · obtain ⟨k, u, hdraw, hreturn⟩ := of_bind_ok h
    cases hdraw
    cases hreturn
    have hpos : 0 < last - first + 1 := by omega
    have hnonneg := Int.emod_nonneg (w.draws.headD 0) (show last - first + 1 ≠ 0 by omega)
    have hless := Int.emod_lt_of_pos (w.draws.headD 0) hpos
    refine ⟨?_, rfl⟩
    change first ≤ first + w.draws.headD 0 % (last - first + 1) ∧
      first + w.draws.headD 0 % (last - first + 1) ≤ last
    omega

theorem chosen_mem (first : GroupRange) (rest : List GroupRange) (index : Nat) :
    (first :: rest).getD index first ∈ first :: rest := by
  rw [List.getD_eq_getElem?_getD]
  cases hfound : (first :: rest)[index]? with
  | none => exact List.mem_cons_self
  | some range => exact List.mem_of_getElem? hfound

/-- A range is drawn, and then an id in it. -/
theorem of_pickGroup (h : pickGroup ranges w = (.ok gid, v)) :
    ∃ range ∈ ranges, (range.min ≤ gid ∧ gid ≤ range.max) ∧
      v.events = w.events ++ [.draw ranges.length, .draw (range.max - range.min + 1)] := by
  cases ranges with
  | nil => cases h
  | cons first rest =>
    obtain ⟨index, u, hindex, hdraw⟩ := of_bind_ok h
    obtain ⟨hin, hevents⟩ := of_drawBetween hdraw
    refine ⟨_, chosen_mem first rest index.toNat, hin, ?_⟩
    cases hindex
    rw [hevents, List.append_cons, List.append_assoc]
    exact List.append_assoc w.events [_] [_]

/-- Picking from ranges with ids only fails if there are none. -/
theorem pickGroup_raises (hranges : ∀ range ∈ ranges, range.min ≤ range.max) :
    Raises (fun e => ranges = [] ∧ e = .provisioning .noGroups) (pickGroup ranges) := by
  cases ranges with
  | nil => exact throw_raises ⟨rfl, rfl⟩
  | cons first rest =>
    refine Raises.bind (fun _ _ _ h => by cases h) fun index => ?_
    have hchosen := hranges _ (chosen_mem first rest index.toNat)
    dsimp only
    rw [drawBetween, if_neg (by omega)]
    exact Raises.bind (fun _ _ _ h => by cases h) fun _ => pure_raises _

theorem pickGroup_ok (hne : ranges ≠ []) (hranges : ∀ range ∈ ranges, range.min ≤ range.max)
    (w : World) : ∃ gid v, pickGroup ranges w = (.ok gid, v) := by
  rcases hpick : pickGroup ranges w with ⟨e | gid, v⟩
  · exact absurd (pickGroup_raises hranges _ _ _ hpick).1 hne
  · exact ⟨gid, v, rfl⟩

end NfsVolume.Group
