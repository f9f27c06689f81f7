/-!
Texts counted in bytes, as they are encoded: the size of a text, its beginning and its rest.
-/

namespace RepoVitals.Text

/-- The number of bytes that letters take. -/
def byteSize : List Char → Nat
  | [] => 0
  | letter :: rest => letter.utf8Size + byteSize rest

/-- The letters that lie in the first `size` bytes as a whole. -/
def takeBytes (size : Nat) : List Char → List Char
  | [] => []
  | letter :: rest =>
    if letter.utf8Size ≤ size then letter :: takeBytes (size - letter.utf8Size) rest else []

/-- The letters that begin after the first `size` bytes. -/
def dropBytes (size : Nat) : List Char → List Char
  | [] => []
  | letter :: rest =>
    if size = 0 then letter :: rest else dropBytes (size - letter.utf8Size) rest

/-- What is taken fits. -/
theorem byteSize_takeBytes_le (size : Nat) (letters : List Char) :
    byteSize (takeBytes size letters) ≤ size := by
  induction letters generalizing size with
  | nil => simp [takeBytes, byteSize]
  | cons letter rest hypothesis =>
    by_cases fits : letter.utf8Size ≤ size
    · have := hypothesis (size - letter.utf8Size)
      simp only [takeBytes, fits, if_true, byteSize]
      omega
    · simp [takeBytes, fits, byteSize]

/-- What is taken is a beginning of the text. -/
theorem takeBytes_isPrefix (size : Nat) (letters : List Char) :
    takeBytes size letters <+: letters := by
  induction letters generalizing size with
  | nil => simp [takeBytes]
  | cons letter rest hypothesis =>
    by_cases fits : letter.utf8Size ≤ size
    · simpa [takeBytes, fits] using hypothesis (size - letter.utf8Size)
    · simp [takeBytes, fits]

/-- A text is taken as a whole if it fits. -/
theorem takeBytes_of_byteSize_le (size : Nat) (letters : List Char)
    (fits : byteSize letters ≤ size) : takeBytes size letters = letters := by
  induction letters generalizing size with
  | nil => rfl
  | cons letter rest hypothesis =>
    simp only [byteSize] at fits
    have first : letter.utf8Size ≤ size := by omega
    simp only [takeBytes, first, if_true]
    rw [hypothesis _ (by omega)]

end RepoVitals.Text
