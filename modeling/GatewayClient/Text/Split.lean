/-!
# Splitting

The parts of a list between the occurrences of a mark.
-/

namespace GatewayClient

/-- There is one part more than there are marks. -/
def splitAt {α : Type} [DecidableEq α] (mark : α) : List α → List (List α)
  | [] => [[]]
  | a :: rest =>
    if a = mark then [] :: splitAt mark rest
    else
      match splitAt mark rest with
      | part :: parts => (a :: part) :: parts
      | [] => [[a]]

theorem splitAt_ne_nil {α : Type} [DecidableEq α] (mark : α) (text : List α) :
    splitAt mark text ≠ [] := by
  cases text with
  | nil => simp [splitAt]
  | cons a rest =>
    unfold splitAt
    split
    · simp
    · split <;> simp

end GatewayClient
