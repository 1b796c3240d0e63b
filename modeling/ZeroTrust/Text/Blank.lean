/-
  `Text.Blank` — white space.

  A character is blank when it has the Unicode property White_Space. That is a
  table of twenty-five code points: the ASCII controls from the tab to the
  carriage return, the space, the next-line control, the no-break space and the
  typographic spaces. The zero-width space and the byte-order mark are not in it.

  Two operations rest on the table: `trim` drops the blanks at both ends of a
  text, and `words` cuts a text into its longest runs of other characters.
-/
namespace ZeroTrust.Text

/-! ### The property -/

/-- A character of the Unicode property White_Space. -/
def isBlank (c : Char) : Bool :=
  let n := c.toNat
  (0x09 ≤ n && n ≤ 0x0D) || n == 0x20 || n == 0x85 || n == 0xA0 || n == 0x1680 ||
    (0x2000 ≤ n && n ≤ 0x200A) || n == 0x2028 || n == 0x2029 || n == 0x202F ||
    n == 0x205F || n == 0x3000

/-! ### Trimming -/

/-- The characters from the first that is not blank. -/
def dropBlank (cs : List Char) : List Char :=
  cs.dropWhile isBlank

/-- The characters up to the last that is not blank. -/
def dropBlankEnd (cs : List Char) : List Char :=
  (dropBlank cs.reverse).reverse

/-- A text without the blanks at its ends. -/
def trim (s : String) : String :=
  String.ofList (dropBlankEnd (dropBlank s.toList))

/-- A text that holds nothing but blanks. -/
def isBlankText (s : String) : Bool :=
  s.toList.all isBlank

/-! ### Words -/

/-- The runs of characters between blanks; `run` holds, last character first, the run being read. -/
def wordsFrom (run : List Char) : List Char → List (List Char)
  | [] => if run.isEmpty then [] else [run.reverse]
  | c :: cs =>
    if isBlank c then
      if run.isEmpty then wordsFrom [] cs else run.reverse :: wordsFrom [] cs
    else wordsFrom (c :: run) cs

/-- The longest runs of characters that are not blank, in order. -/
def words (s : String) : List String :=
  (wordsFrom [] s.toList).map String.ofList

/-! ### Laws -/

@[simp] theorem dropBlank_nil : dropBlank [] = [] := rfl

/-- What is left of a dropped list starts with no blank. -/
theorem not_isBlank_of_dropBlank_eq_cons {c : Char} {cs rest : List Char}
    (h : dropBlank cs = c :: rest) : isBlank c = false := by
  induction cs with
  | nil => simp at h
  | cons d ds ih =>
    by_cases hd : isBlank d = true
    · exact ih (by simpa [dropBlank, List.dropWhile_cons, hd] using h)
    · have : d = c := by
        have := h
        simp only [dropBlank, List.dropWhile_cons, hd] at this
        simpa using congrArg List.head? this
      simpa [this] using hd

/-- Dropping blanks twice drops no more. -/
theorem dropBlank_dropBlank (cs : List Char) : dropBlank (dropBlank cs) = dropBlank cs := by
  cases h : dropBlank cs with
  | nil => rfl
  | cons c rest =>
    simp [dropBlank, not_isBlank_of_dropBlank_eq_cons h]

end ZeroTrust.Text
