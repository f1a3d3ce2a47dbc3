/-
Computations that wait.

* `Turn`: what one turn of such a computation gives, a result or the point at which it waits.

A computation is given by a function that starts it and a function that resumes it from such a
point. What it waits for, and until when at most, is said by the type of its points.
-/
namespace Teller

/-- What one turn of a computation gives: it waits at a point, or it is done. -/
inductive Turn (Point Result : Type) where
  | waiting (point : Point)
  | done (result : Result)

end Teller
