import IconInline.Glob.Part

/-!
# Reading glob patterns

A pattern is read from front to back. Open groups are kept on a stack with the branches that
they hold so far; the branch being read is kept apart, its latest part first.
-/

namespace IconInline.Glob

/-- The ranges of a class while it is read, the latest first. -/
structure ClassRead where
  ranges : List (Char × Char) := []
  /-- A hyphen was read that opens a range if a character follows. -/
  inRange : Bool := false
  deriving DecidableEq, Repr

namespace ClassRead

/-- Adds a character by itself. -/
def single (r : ClassRead) (c : Char) : ClassRead := ⟨(c, c) :: r.ranges, false⟩

/-- Makes the latest range end at a character. -/
def extend (r : ClassRead) (c : Char) : Except Fault ClassRead :=
  match r.ranges with
  | [] => .ok (r.single c)
  | (low, _) :: more =>
    if c < low then .error (.invertedRange low c) else .ok ⟨(low, c) :: more, false⟩

/-- Takes a character of a class. -/
def step (r : ClassRead) (c : Char) : Except Fault ClassRead :=
  if r.ranges.isEmpty then .ok (r.single c)
  else if r.inRange then r.extend c
  else if c = '-' then .ok { r with inRange := true }
  else .ok (r.single c)

/-- The ranges once the class is closed; a hyphen at its end stands for itself. -/
def close (r : ClassRead) : List (Char × Char) :=
  (if r.inRange then (r.single '-').ranges else r.ranges).reverse

end ClassRead

/-- Reads a class behind its bracket and negation. A `]` closes it unless it comes first. -/
def readRanges (r : ClassRead) :
    List Char → Except Fault (List (Char × Char) × List Char)
  | [] => .error .unclosedClass
  | c :: rest =>
    if c = ']' ∧ !r.ranges.isEmpty then .ok (r.close, rest)
    else
      match r.step c with
      | .ok r' => readRanges r' rest
      | .error fault => .error fault

/-- Reads a class behind its bracket. -/
def readClass : List Char → Except Fault (Part × List Char)
  | [] => .error .unclosedClass
  | c :: rest =>
    let negated := c == '!' || c == '^'
    (readRanges {} (if negated then rest else c :: rest)).map
      fun (ranges, after) => (.class negated ranges, after)

/-- A group whose end is not reached yet. -/
structure OpenGroup where
  /-- What stands before the group, the latest part first. -/
  outer : List Part
  /-- The finished branches, the latest first. -/
  branches : List (List Part) := []
  deriving Repr

/-- How far a pattern has been read. -/
structure Reading where
  /-- The parts of the present branch, the latest first. -/
  parts : List Part := []
  groups : List OpenGroup := []
  /-- The character before the rest of the pattern. -/
  previous : Option Char := none
  deriving Repr

namespace Reading

/-- Adds a part that ends in a character. -/
def add (r : Reading) (part : Part) (last : Char) : Reading :=
  { r with parts := part :: r.parts, previous := some last }

/-- Begins a group. -/
def openGroup (r : Reading) : Reading :=
  ⟨[], ⟨r.parts, []⟩ :: r.groups, some '\x7b'⟩

/-- Ends a branch of a group; outside of groups a comma stands for itself. -/
def comma (r : Reading) : Reading :=
  match r.groups with
  | [] => r.add (.literal ',') ','
  | g :: more =>
    ⟨[], { g with branches := r.parts.reverse :: g.branches } :: more, some ','⟩

/-- Ends a group. -/
def closeGroup (r : Reading) : Except Fault Reading :=
  match r.groups with
  | [] => .error .unopenedChoice
  | g :: more =>
    .ok ⟨.choice (r.parts.reverse :: g.branches).reverse :: g.outer, more, some '\x7d'⟩

/-- Two asterisks that are no path component of their own. -/
def twoAsterisks (r : Reading) (rest : List Char) : Reading × List Char :=
  ((r.add .anyBytes '*').add .anyBytes '*', rest)

/-- The part that `**` behind a slash stands for, in the stead of the part for the slash. -/
def dirsAfter (last : Part) (atEnd : Bool) : Part :=
  match last with
  | .leadingDirs => .leadingDirs
  | .trailingDirs => .trailingDirs
  | _ => if atEnd then .trailingDirs else .innerDirs

/-- May `**` stand for directories, judging by the character before it? Inside of a group it
may also follow a comma or an opening brace. -/
def dirsMayFollow (r : Reading) : Bool :=
  r.previous == some '/'
    || (!r.groups.isEmpty && (r.previous == some ',' || r.previous == some '\x7b'))

/-- Reads on behind `**`. -/
def doubleAsterisk (r : Reading) (rest : List Char) : Reading × List Char :=
  match r.parts with
  | [] =>
    match rest with
    | [] => (r.add .leadingDirs '*', [])
    | '/' :: more => (r.add .leadingDirs '/', more)
    | _ => r.twoAsterisks rest
  | last :: before =>
    if r.dirsMayFollow then
      let put (atEnd : Bool) (c : Char) : Reading :=
        { r with parts := dirsAfter last atEnd :: before, previous := some c }
      match rest with
      | [] => (put true '*', [])
      | '/' :: more => (put false '/', more)
      | c :: _ =>
        if !r.groups.isEmpty && (c == ',' || c == '\x7d') then (put true '*', rest)
        else r.twoAsterisks rest
    else r.twoAsterisks rest

/-- Takes one part of a pattern. -/
def step (r : Reading) (c : Char) (rest : List Char) : Except Fault (Reading × List Char) :=
  match c with
  | '?' => .ok (r.add .anyByte '?', rest)
  | '*' =>
    match rest with
    | '*' :: more => .ok (r.doubleAsterisk more)
    | _ => .ok (r.add .anyBytes '*', rest)
  | '[' => (readClass rest).map fun (part, after) => (r.add part ']', after)
  | '\x7b' => .ok (r.openGroup, rest)
  | '\x7d' => r.closeGroup.map (·, rest)
  | ',' => .ok (r.comma, rest)
  | '\\' =>
    match rest with
    | [] => .error .danglingEscape
    | escaped :: more => .ok (r.add (.literal escaped) escaped, more)
  | c => .ok (r.add (.literal c) c, rest)

/-- Takes the parts of a pattern, at most `bound` many. -/
def run (r : Reading) : (bound : Nat) → List Char → Except Fault Reading
  | 0, _ | _, [] => .ok r
  | bound + 1, c :: rest =>
    match r.step c rest with
    | .ok (r', after) => r'.run bound after
    | .error fault => .error fault

end Reading

/-- The parts of a pattern. -/
def parts (pattern : List Char) : Except Fault (List Part) :=
  match ({} : Reading).run pattern.length pattern with
  | .error fault => .error fault
  | .ok r => if r.groups.isEmpty then .ok r.parts.reverse else .error .unclosedChoice

end IconInline.Glob
