import NfsVolume.Text.Basic

/-!
Line ends: reading a text file turns each of `\r\n` and `\r` into one line feed.
-/
namespace NfsVolume.Text

def unifyNewlines : Text → Text
  | [] => []
  | '\r' :: '\n' :: rest => '\n' :: unifyNewlines rest
  | c :: rest => (if c = '\r' then '\n' else c) :: unifyNewlines rest

theorem unifyNewlines_of_notMem {s : Text} (h : '\r' ∉ s) : unifyNewlines s = s := by
  fun_induction unifyNewlines s with
  | case1 => rfl
  | case2 => simp at h
  | case3 c rest _ ih => grind

end NfsVolume.Text
