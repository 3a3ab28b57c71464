/-!
Blank characters: the twenty-five code points of the Unicode property White_Space, and the
texts that remain when blanks are taken off the ends.

* `isBlank`: membership in the property.
* `trimLeft`, `trimRight`, `trim`: a text without its leading, trailing, outer blanks.
* `isBlankText`: nothing is left after trimming; `isBlankText_iff` says the same of the characters.
-/

namespace DeviceGate.Text

/-- The code points of White_Space, as closed ranges in increasing order. -/
def blankRanges : List (Nat × Nat) :=
  [(0x9, 0xD), (0x20, 0x20), (0x85, 0x85), (0xA0, 0xA0), (0x1680, 0x1680), (0x2000, 0x200A),
   (0x2028, 0x2029), (0x202F, 0x202F), (0x205F, 0x205F), (0x3000, 0x3000)]

/-- Membership in White_Space. -/
def isBlank (c : Char) : Bool :=
  blankRanges.any fun r => r.1 ≤ c.toNat && c.toNat ≤ r.2

/-- The text without its leading blanks. -/
def trimLeft (cs : List Char) : List Char :=
  cs.dropWhile isBlank

/-- The text without its trailing blanks. -/
def trimRight (cs : List Char) : List Char :=
  (cs.reverse.dropWhile isBlank).reverse

/-- The text without its outer blanks. -/
def trimChars (cs : List Char) : List Char :=
  trimRight (trimLeft cs)

/-- The string without its outer blanks. -/
def trim (s : String) : String :=
  String.ofList (trimChars s.toList)

/-- Nothing but blanks. -/
def isBlankText (s : String) : Bool :=
  s.toList.all isBlank

theorem isBlank_of_isWhitespace {c : Char} (h : c.isWhitespace = true) : isBlank c = true := by
  simp only [Char.isWhitespace, Bool.or_eq_true, decide_eq_true_eq] at h
  rcases h with ((rfl | rfl) | rfl) | rfl <;> decide

theorem isBlankText_iff (s : String) : isBlankText s = true ↔ trim s = "" := by
  have drop : ∀ l : List Char, l.dropWhile isBlank = [] ↔ l.all isBlank = true := by
    intro l
    induction l with
    | nil => simp
    | cons c r ih => by_cases h : isBlank c = true <;> simp_all
  constructor
  · intro h
    have : s.toList.dropWhile isBlank = [] := (drop _).2 h
    simp [trim, trimChars, trimLeft, trimRight, this]
  · intro h
    have hl : trimRight (trimLeft s.toList) = [] := by
      have := congrArg String.toList h
      simpa [trim, trimChars] using this
    have hr : (trimLeft s.toList).reverse.dropWhile isBlank = [] := by
      simpa [trimRight] using hl
    have hall : (trimLeft s.toList).all isBlank = true := by
      simpa using (drop _).1 hr
    have hhead : trimLeft s.toList = [] := by
      rcases hcs : trimLeft s.toList with _ | ⟨c, r⟩
      · rfl
      · have hc : isBlank c = true := by
          rw [hcs] at hall
          simp at hall
          exact hall.1
        have hn := List.head?_dropWhile_not isBlank s.toList
        rw [show s.toList.dropWhile isBlank = c :: r from hcs] at hn
        simp [hc] at hn
    exact (drop _).1 hhead

end DeviceGate.Text
