/-!
# Splitting

The parts of a list between separators. There is always one part more than there are separators.
-/

namespace ReportServer.Text

variable {α : Type}

/-- Put an element in front of the first part. -/
def pushFront (a : α) : List (List α) → List (List α)
  | [] => [[a]]
  | part :: parts => (a :: part) :: parts

/-- The parts between the elements that a test picks out. -/
def splitWhere (p : α → Bool) : List α → List (List α)
  | [] => [[]]
  | a :: rest => if p a then [] :: splitWhere p rest else pushFront a (splitWhere p rest)

theorem splitWhere_ne_nil (p : α → Bool) (s : List α) : splitWhere p s ≠ [] := by
  cases s with
  | nil => simp [splitWhere]
  | cons a rest =>
    simp only [splitWhere]
    split
    · simp
    · cases splitWhere p rest <;> simp [pushFront]

/-- Without a separator there is one part. -/
theorem splitWhere_of_forall_not {p : α → Bool} {s : List α} (h : ∀ a ∈ s, p a = false) :
    splitWhere p s = [s] := by
  induction s with
  | nil => rfl
  | cons a rest ih =>
    rw [splitWhere, if_neg (by simp [h a List.mem_cons_self]), ih fun x hx => h x (List.mem_cons_of_mem a hx)]
    rfl

/-- The parts on both sides of a separator. -/
theorem splitWhere_append_cons {p : α → Bool} {a : α} (h : p a = true) (s t : List α) :
    splitWhere p (s ++ a :: t) = splitWhere p s ++ splitWhere p t := by
  induction s with
  | nil => simp [splitWhere, h]
  | cons b rest ih =>
    rw [List.cons_append, splitWhere, ih, splitWhere]
    split
    · rfl
    · cases hp : splitWhere p rest with
      | nil => exact absurd hp (splitWhere_ne_nil p rest)
      | cons part parts => rfl

/-- The parts of a text between occurrences of a character. -/
def splitText (sep : Char) (s : String) : List String :=
  (splitWhere (· == sep) s.toList).map String.ofList

end ReportServer.Text
