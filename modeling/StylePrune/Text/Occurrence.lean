/-!
# Occurrences of texts

Whether one text occurs in another.
-/

namespace StylePrune

namespace Text

def occursIn (part : List Char) : List Char → Bool
  | [] => part.isEmpty
  | c :: rest => part.isPrefixOf (c :: rest) || occursIn part rest

theorem occursIn_iff {part s : List Char} : occursIn part s = true ↔ part <:+: s := by
  induction s with
  | nil => simp [occursIn]
  | cons c rest ih =>
      simp [occursIn, ih, List.infix_cons_iff]

end Text

end StylePrune
