/-!
# Blank characters

The characters with the Unicode property `White_Space`. Arguments are trimmed by this class
and, in the non-whitespace scan, delimited by it.
-/

namespace IconInline.Text

/-- Has the property `White_Space`. -/
def isBlank (c : Char) : Bool :=
  let n := c.toNat
  (0x09 ≤ n && n ≤ 0x0d) || n == 0x20 || n == 0x85 || n == 0xa0 || n == 0x1680
    || (0x2000 ≤ n && n ≤ 0x200a) || n == 0x2028 || n == 0x2029 || n == 0x202f
    || n == 0x205f || n == 0x3000

/-- Without the blanks at its front. -/
def trimStart (cs : List Char) : List Char := cs.dropWhile isBlank

/-- Without the blanks at its back. -/
def trimEnd (cs : List Char) : List Char := (cs.reverse.dropWhile isBlank).reverse

/-- Without the blanks at either edge. -/
def trim (cs : List Char) : List Char := trimEnd (trimStart cs)

theorem trim_subset (cs : List Char) : trim cs ⊆ cs := by
  intro c hc
  have hend := (List.dropWhile_suffix isBlank).subset (List.mem_reverse.mp hc)
  exact (List.dropWhile_suffix isBlank).subset (List.mem_reverse.mp hend)

end IconInline.Text
