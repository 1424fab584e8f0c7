/-!
# Line ends

A text file may end its lines with a line feed, a carriage return, or both. Reading one unifies
the three into a line feed.
-/
namespace AuthRelay.Text

/-- Turns `"\r\n"` and a lone `'\r'` into `'\n'`. -/
def unifyNewlines : List Char → List Char
  | [] => []
  | '\r' :: '\n' :: rest => '\n' :: unifyNewlines rest
  | c :: rest => (if c = '\r' then '\n' else c) :: unifyNewlines rest

/-- A text without carriage returns is left alone. -/
theorem unifyNewlines_of_not_mem {s : List Char} (h : '\r' ∉ s) : unifyNewlines s = s := by
  induction s with
  | nil => rfl
  | cons c rest ih =>
    rw [List.mem_cons, not_or] at h
    rw [unifyNewlines, ih h.2, if_neg (Ne.symm h.1)]
    rintro rest rfl
    exact absurd rfl h.1

end AuthRelay.Text
