/-!
# CommandBridge.Text.Breaks

Line breaks.  A text can end its lines with a line feed, with a carriage return, or with
both; `unify` writes each of these breaks as one line feed.  Main statements: no carriage
return is left, and a text without one stays as it is.
-/

namespace CommandBridge.Breaks

/-- A text with every line break written as one line feed. -/
def unify : List Char → List Char
  | '\r' :: '\n' :: r => '\n' :: unify r
  | '\r' :: r => '\n' :: unify r
  | c :: r => c :: unify r
  | [] => []

/-- No carriage return is left. -/
theorem return_not_mem_unify (cs : List Char) : '\r' ∉ unify cs := by
  fun_induction unify cs with
  | case1 r ih => simp [ih]
  | case2 r _ ih => simp [ih]
  | case3 c r _ h ih =>
    have hc : ¬ '\r' = c := fun e => h e.symm
    simp [ih, hc]
  | case4 => simp

/-- A text without carriage returns stays as it is. -/
theorem unify_of_not_mem {cs : List Char} (h : '\r' ∉ cs) : unify cs = cs := by
  fun_induction unify cs with
  | case1 r _ => simp at h
  | case2 r _ _ => simp at h
  | case3 c r _ _ ih => simp_all
  | case4 => rfl

example : unify "a\r\n\rb\n".toList = "a\n\nb\n".toList := by decide +kernel

end CommandBridge.Breaks
