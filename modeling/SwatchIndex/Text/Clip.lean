/-
Cutting a list at a signed bound.
-/

namespace SwatchIndex

/-- The first `k` items; a negative `k` leaves out the last `-k` items instead. -/
def clip (k : Int) (xs : List α) : List α :=
  match k with
  | .ofNat n => xs.take n
  | .negSucc n => xs.take (xs.length - (n + 1))

theorem clip_nil (k : Int) : clip k ([] : List α) = [] := by
  cases k <;> exact List.take_nil

/-- The list cut at the bound, or whole when there is none. -/
def clipTo (bound : Option Int) (xs : List α) : List α :=
  match bound with
  | none => xs
  | some k => clip k xs

end SwatchIndex
