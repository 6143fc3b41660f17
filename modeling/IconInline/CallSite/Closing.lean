/-!
# The parenthesis that closes a call

Starting at an opening parenthesis, quoted pieces are passed over whole, a backslash inside
them hides the next sign, and every bracket counts towards one common depth. The scan ends at
the bracket that brings the depth back to zero, and succeeds if that is a round one. The signs
are read off characters or off bytes, as the caller's alphabet demands.
-/

namespace IconInline.CallSite

/-- The kinds of quotation marks. -/
inductive QuoteMark where
  | single
  | double
  | back
  deriving DecidableEq, Repr

/-- What one unit of text means to the scan. -/
inductive Sign where
  | quote (mark : QuoteMark)
  | backslash
  | opening
  | closing (round : Bool)
  | other
  deriving DecidableEq, Repr

/-- What a code point means to the scan. -/
def Sign.ofNat (n : Nat) : Sign :=
  if n = 0x27 then .quote .single
  else if n = 0x22 then .quote .double
  else if n = 0x60 then .quote .back
  else if n = 0x5c then .backslash
  else if n = 0x28 ∨ n = 0x5b ∨ n = 0x7b then .opening
  else if n = 0x29 then .closing true
  else if n = 0x5d ∨ n = 0x7d then .closing false
  else .other

/-- What a character means to the scan. -/
def Sign.ofChar (c : Char) : Sign := .ofNat c.toNat

/-- What a byte of UTF-8 text means to the scan. -/
def Sign.ofByte (b : UInt8) : Sign := .ofNat b.toNat

/-- Where the scan stands: the number of open brackets, and the quoted piece it is in. -/
structure Depth where
  brackets : Nat
  quote : Option QuoteMark := none
  escaped : Bool := false
  deriving DecidableEq, Repr

/-- What the scan does at a sign. -/
inductive Move where
  | onward (depth : Depth)
  | closed
  | mismatched
  deriving DecidableEq, Repr

/-- One step of the scan. -/
def Depth.step (d : Depth) (s : Sign) : Move :=
  match d.quote with
  | some mark =>
    if d.escaped then .onward { d with escaped := false }
    else if s = .backslash then .onward { d with escaped := true }
    else if s = .quote mark then .onward { d with quote := none }
    else .onward d
  | none =>
    match s with
    | .quote mark => .onward { d with quote := some mark }
    | .opening => .onward { d with brackets := d.brackets + 1 }
    | .closing round =>
      match d.brackets with
      | 0 => .mismatched
      | 1 => if round then .closed else .mismatched
      | n + 2 => .onward { d with brackets := n + 1 }
    | _ => .onward d

/-- How many signs stand before the one that closes the call, if one does. -/
def closingFrom (d : Depth) : List Sign → Option Nat
  | [] => none
  | s :: rest =>
    match d.step s with
    | .onward d' => (closingFrom d' rest).map (· + 1)
    | .closed => some 0
    | .mismatched => none

/-- The position of the parenthesis that matches the one at the front. -/
def closing? (signs : List Sign) : Option Nat := closingFrom ⟨0, none, false⟩ signs

end IconInline.CallSite
