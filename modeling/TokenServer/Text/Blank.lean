/-!
Blanks are the characters with the Unicode property White_Space. Fields that people type are read
without the blanks around them.
-/

namespace TokenServer

/-- The Unicode property White_Space. -/
def isBlank (c : Char) : Bool :=
  let code := c.toNat
  (0x09 ≤ code && code ≤ 0x0D) || code == 0x20 || code == 0x85 || code == 0xA0 || code == 0x1680 ||
    (0x2000 ≤ code && code ≤ 0x200A) || code == 0x2028 || code == 0x2029 || code == 0x202F ||
    code == 0x205F || code == 0x3000

def trimStart (text : List Char) : List Char := text.dropWhile isBlank

def trim (text : List Char) : List Char := (trimStart (trimStart text).reverse).reverse

theorem trimStart_of_unblank {text : List Char} (first : ∀ c ∈ text.head?, isBlank c = false) :
    trimStart text = text := by
  cases text with
  | nil => rfl
  | cons c rest => rw [trimStart, List.dropWhile_cons_of_neg (by simp [first c rfl])]

/-- A text that is not blank at either end is kept as it is. -/
theorem trim_of_unblank {text : List Char} (first : ∀ c ∈ text.head?, isBlank c = false)
    (last : ∀ c ∈ text.getLast?, isBlank c = false) : trim text = text := by
  have backwards : trimStart text.reverse = text.reverse :=
    trimStart_of_unblank (by simpa using last)
  rw [trim, trimStart_of_unblank first, backwards, List.reverse_reverse]

end TokenServer
