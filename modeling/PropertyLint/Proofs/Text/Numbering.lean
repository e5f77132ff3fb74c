import Std.Data.HashMap

/-! Values numbered in the order of their arrival.
An array holds the value of each number and a map finds the number of each value. A value that the
map does not know takes the next number in both.
-/

namespace PropertyLint

variable {α : Type} [DecidableEq α] [Hashable α] {values : Array α} {numbers : Std.HashMap α Nat}
  {value : α}

/-- The map finds a number for a value exactly when the array holds the value there. -/
def Numbered (values : Array α) (numbers : Std.HashMap α Nat) : Prop :=
  ∀ (value : α) (number : Nat), numbers[value]? = some number ↔ values[number]? = some value

/-- A new value is entered in both directions at once. -/
theorem Numbered.push (numbered : Numbered values numbers) (absent : numbers[value]? = none)
    : Numbered (values.push value) (numbers.insert value values.size) := by
  intro other number
  rw [Std.HashMap.getElem?_insert, Array.getElem?_push]
  by_cases same : value = other <;> by_cases last : number = values.size
  · simp [same, last]
  · have unknown : values[number]? ≠ some other := by
      intro found
      rw [same, (numbered other number).mpr found] at absent
      cases absent
    simpa [same, last, unknown] using Ne.symm last
  · have unknown : numbers[other]? ≠ some number := by
      intro found
      simpa [last] using (numbered other number).mp found
    simpa [same, last] using last ▸ unknown
  · simpa [same, last] using numbered other number

end PropertyLint
