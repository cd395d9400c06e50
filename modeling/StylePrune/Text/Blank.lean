/-!
# Blanks and words

The characters of the Unicode property `White_Space`, trimming of both ends of a
text, and its split into maximal runs without blanks.
-/

namespace StylePrune

namespace Text

/-- The characters of the Unicode property `White_Space`. -/
def isBlank (c : Char) : Bool :=
  let n := c.toNat
  (9 ≤ n && n ≤ 13) || n == 0x20 || n == 0x85 || n == 0xA0 || n == 0x1680 ||
    (0x2000 ≤ n && n ≤ 0x200A) || n == 0x2028 || n == 0x2029 || n == 0x202F ||
    n == 0x205F || n == 0x3000

def dropBlanks (s : List Char) : List Char :=
  s.dropWhile isBlank

/-- The text without the blanks at its two ends. -/
def trim (s : List Char) : List Char :=
  (dropBlanks (dropBlanks s).reverse).reverse

@[simp] theorem trim_nil : trim [] = [] := rfl

def trimEnd (s : List Char) : List Char :=
  (dropBlanks s.reverse).reverse

def trimString (s : String) : String :=
  String.ofList (trim s.toList)

/-- The words of a text that continues the word `current`, read backwards. -/
def wordsFrom (current : List Char) : List Char → List (List Char)
  | [] => if current.isEmpty then [] else [current.reverse]
  | c :: rest =>
      if isBlank c then
        if current.isEmpty then wordsFrom [] rest
        else current.reverse :: wordsFrom [] rest
      else wordsFrom (c :: current) rest

/-- The maximal runs of characters that are no blanks, in order. -/
def words (s : List Char) : List (List Char) :=
  wordsFrom [] s

theorem ne_nil_of_mem_wordsFrom {current s w : List Char} (h : w ∈ wordsFrom current s) :
    w ≠ [] := by
  induction s generalizing current with
  | nil =>
      cases current <;> simp_all [wordsFrom]
  | cons c rest ih =>
      unfold wordsFrom at h
      split at h
      · split at h
        · exact ih h
        · rcases List.mem_cons.mp h with rfl | h
          · cases current <;> simp_all
          · exact ih h
      · exact ih h

/-- No word is empty. -/
theorem ne_nil_of_mem_words {s w : List Char} (h : w ∈ words s) : w ≠ [] :=
  ne_nil_of_mem_wordsFrom h

end Text

end StylePrune
