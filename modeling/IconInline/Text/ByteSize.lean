/-!
# Size in bytes

Offsets into a text count the bytes of its UTF-8 form.
-/

namespace IconInline.Text

/-- The number of bytes of a text. -/
def byteSize (cs : List Char) : Nat := cs.foldr (fun c n => c.utf8Size + n) 0

end IconInline.Text
