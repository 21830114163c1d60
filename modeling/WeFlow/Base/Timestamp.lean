/-!
# `Timestamp` — rendered timestamps

A timestamp is stored as an ISO text, and SQL compares the texts. An instant is a number of microseconds; it
is rendered with six digits after a `.`, and a whole second without any, so that the `Z` that ends the text
stands where others have the `.`.

## Contents

* `renderedBefore` — the comparison of two rendered instants.
* `renderedBefore_of_whole` — it is that of the instants where the later one is a whole second.
-/

namespace WeFlow

/-- The rank of a rendered fraction: six digits after a `.`, or, for a whole second, no fraction at all;
    then the `Z` that ends the text stands where others have the `.`, and `Z` comes after it. -/
def renderedFraction (t : Nat) : Nat := if t % 1000000 = 0 then 1000000 else t % 1000000

/-- `_ts(a) < _ts(b)`, as SQL compares the two texts: the date and the whole seconds have one width. -/
def renderedBefore (a b : Nat) : Bool :=
  a / 1000000 < b / 1000000 ∨ (a / 1000000 = b / 1000000 ∧ renderedFraction a < renderedFraction b)

/-- What ends on a whole second is rendered after whatever comes before it. -/
theorem renderedBefore_of_whole {a b : Nat} (hb : b % 1000000 = 0) (hlt : a < b) : renderedBefore a b = true := by
  have hdiv : a / 1000000 < b / 1000000 := by
    omega
  exact decide_eq_true (.inl hdiv)

end WeFlow
