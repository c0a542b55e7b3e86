/-! Paths as they are written.

A path keeps its spelling: `join` only puts a slash between its parts. Where it leads is decided
by its `parts`, the names between the slashes. `ancestors` goes outward from a path: a dot at the
end of a path names nothing by itself, so it is no step outward. -/
namespace LogWeave.Files

/-- A written path. -/
structure Path where
  text : String
  deriving DecidableEq, Repr

namespace Path

def isAbsolute (p : Path) : Bool := p.text.toList.head? == some '/'

def endsInSlash (p : Path) : Bool := p.text.toList.getLast? == some '/'

/-- A path seen from a folder. An absolute path stands by itself. -/
def join (base name : Path) : Path :=
  if name.isAbsolute then name
  else if base.text.isEmpty || base.endsInSlash then ⟨base.text ++ name.text⟩
  else ⟨base.text ++ "/" ++ name.text⟩

/-- The names between slashes. `name` holds the characters since the last slash. -/
def partsFrom (name : List Char) : List Char → List (List Char)
  | [] => [name]
  | c :: rest => if c = '/' then name :: partsFrom [] rest else partsFrom (name ++ [c]) rest

/-- The names a path leads through. -/
def parts (p : Path) : List String :=
  ((partsFrom [] p.text.toList).filter fun name => !name.isEmpty).map String.ofList

/-- The parts of the folders around, the nearest first; `inner` holds the names from the last one
back. -/
def outward : (inner : List String) → List (List String)
  | [] => []
  | part :: outer =>
    if part = "." then outward outer else (part :: outer).reverse :: outward outer

/-- The parts of a path and of the folders around it, the nearest first, without the root. -/
def ancestors (p : Path) : List (List String) :=
  p.parts :: outward ((p.parts.reverse.dropWhile (· == ".")).drop 1)

/-- The nearest folder around, seen from the root. -/
def outer (p : Path) : Path := ⟨"/".intercalate ((p.ancestors.drop 1).headD [])⟩

/-- A path has fewer bytes than this. -/
def length : Nat := 4096

/-- The most bytes in a name. -/
def nameLength : Nat := 255

/-- A name with no slash in it is one part, and closes the parts before it. -/
theorem partsFrom_slash (before after name : List Char) :
    partsFrom name (before ++ '/' :: after) =
      partsFrom name before ++ partsFrom [] after := by
  induction before generalizing name with
  | nil => simp [partsFrom]
  | cons c rest ih =>
    by_cases h : c = '/' <;> simp [partsFrom, h, ih]

theorem partsFrom_name (name more : List Char) (h : '/' ∉ more) :
    partsFrom name more = [name ++ more] := by
  induction more generalizing name with
  | nil => simp [partsFrom]
  | cons c rest ih =>
    have hc : c ≠ '/' := fun e => h (e ▸ List.mem_cons_self ..)
    have hr : '/' ∉ rest := fun e => h (List.mem_cons_of_mem c e)
    simp [partsFrom, hc, ih _ hr]

end Path

end LogWeave.Files
