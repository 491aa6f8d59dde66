import Mathlib.Data.List.Basic

/-!
Machines that are fed a string in pieces and answer each piece. Where the machine
after a piece is the machine after its elements, one by one, cuts do not matter.
-/
namespace Fragments
variable {D B R : Type}

/-- A piece does what its first element and then the others do; the last answer counts. -/
structure ElementWise (feed : D → List B → D × R) : Prop where
  nil : ∀ d, (feed d []).1 = d
  cons : ∀ d b rest, feed d (b :: rest) = feed (feed d [b]).1 rest

def feedAll (feed : D → List B → D × R) (d : D) (first : List B) (rest : List (List B)) : D × R :=
  rest.foldl (fun answer piece => feed answer.1 piece) (feed d first)

variable {feed : D → List B → D × R}

theorem feed_append (elements : ElementWise feed) (d : D) (first last : List B) :
    feed d (first ++ last) = feed (feed d first).1 last := by
  induction first generalizing d with
  | nil => rw [List.nil_append, elements.nil]
  | cons b rest ih =>
    rw [List.cons_append, elements.cons, ih, ← elements.cons]

theorem feed_all (elements : ElementWise feed) (d : D) (first : List B) (rest : List (List B)) :
    feedAll feed d first rest = feed d (first ++ rest.flatten) := by
  induction rest generalizing first with
  | nil => simp [feedAll]
  | cons piece rest ih =>
    have joined := ih (first ++ piece)
    rw [List.flatten_cons, ← List.append_assoc, ← joined, feedAll, feedAll, List.foldl_cons,
      feed_append elements d first piece]

end Fragments
