/-!
# A place in a source

A cursor is what is left of a source together with the number of characters read so far. Reading
never goes back: what a cursor has passed is found again only by taking the span from the source.
-/

namespace ComponentCatalog.Script

/-- What is left of a source, and how much of it has been read. -/
structure Cursor where
  pos : Nat
  rest : List Char
  deriving Repr, Inhabited

namespace Cursor

def ofList (source : List Char) : Cursor := ⟨0, source⟩

def head? (c : Cursor) : Option Char := c.rest.head?

def next (c : Cursor) : Cursor :=
  match c.rest with
  | [] => c
  | _ :: rest => ⟨c.pos + 1, rest⟩

def skip (c : Cursor) (count : Nat) : Cursor := ⟨c.pos + count, c.rest.drop count⟩

def startsWith (c : Cursor) (text : List Char) : Bool := text.isPrefixOf c.rest

/-- The longest run of a class at a position, and what follows. -/
def spanFrom (class_ : Char → Bool) : Nat → List Char → List Char × Cursor
  | pos, [] => ([], ⟨pos, []⟩)
  | pos, c :: rest =>
    if class_ c then
      let (run, after) := spanFrom class_ (pos + 1) rest
      (c :: run, after)
    else ([], ⟨pos, c :: rest⟩)

/-- The longest run of a class at the cursor, and the cursor behind it. -/
def span (c : Cursor) (class_ : Char → Bool) : List Char × Cursor :=
  spanFrom class_ c.pos c.rest

/-- A run and what follows are together what was there. -/
theorem spanFrom_append (class_ : Char → Bool) (pos : Nat) (rest : List Char) :
    (spanFrom class_ pos rest).1 ++ (spanFrom class_ pos rest).2.rest = rest := by
  induction rest generalizing pos with
  | nil => rfl
  | cons c rest ih =>
    by_cases hit : class_ c <;> simp [spanFrom, hit, ih]

/-- A run moves the cursor by its length. -/
theorem spanFrom_pos (class_ : Char → Bool) (pos : Nat) (rest : List Char) :
    (spanFrom class_ pos rest).2.pos = pos + (spanFrom class_ pos rest).1.length := by
  induction rest generalizing pos with
  | nil => rfl
  | cons c rest ih =>
    by_cases hit : class_ c
    · simp [spanFrom, hit, ih]; omega
    · simp [spanFrom, hit]

end Cursor

end ComponentCatalog.Script
