/-!
A text cut at every occurrence of a separator. There is one part more than there are separators, and
joined with it the parts give the text back.
-/

namespace ControlPlane.Text

def splitAt (separator : Char) : List Char → List (List Char)
  | [] => [[]]
  | c :: rest =>
    match splitAt separator rest with
    | [] => [[c]]
    | part :: parts => if c = separator then [] :: part :: parts else (c :: part) :: parts

theorem splitAt_ne_nil (separator : Char) (cs : List Char) : splitAt separator cs ≠ [] := by
  induction cs with
  | nil => simp [splitAt]
  | cons c rest _ => simp only [splitAt]; split <;> (try split) <;> simp

theorem intercalate_splitAt (separator : Char) (cs : List Char) :
    [separator].intercalate (splitAt separator cs) = cs := by
  induction cs with
  | nil => simp [splitAt]
  | cons c rest ih =>
    simp only [splitAt]
    cases h : splitAt separator rest with
    | nil => exact absurd h (splitAt_ne_nil separator rest)
    | cons part parts =>
      rw [h] at ih
      by_cases hc : c = separator
      · simp [← ih, hc]
      · cases parts <;> simp_all

end ControlPlane.Text
