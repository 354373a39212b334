import StreamRelay.Header.Field

/-!
# Header blocks

The header fields of a request: each name once, in its folded form, with its values in the order in
which they were added.

Main statements: adding a field puts its value behind those that its name has (`values_add_self`)
and leaves the other names alone (`values_add_of_ne`); putting a value replaces those that its name
has (`values_put_self`) and leaves the other names alone (`values_put_of_ne`).
-/

namespace StreamRelay.Header

/-- The fields of a request: names in their folded form, each with its values in order. -/
abbrev Block := List (String × List String)

namespace Block

/-- The values of a name that is in its folded form. -/
def valuesFolded (b : Block) (name : String) : List String := (b.lookup name).getD []

/-- The values of a name. -/
def values (b : Block) (name : String) : List String := b.valuesFolded (folded name)

/-- Adds a value to a name that is in its folded form. -/
def addFolded (name value : String) : Block → Block
  | [] => [(name, [value])]
  | (n, vs) :: b => if n = name then (n, vs ++ [value]) :: b else (n, vs) :: addFolded name value b

/-- Adds a value to those that a name has. -/
def add (b : Block) (f : Field) : Block := b.addFolded (folded f.name) f.value

/-- Makes a value the only one of a name. -/
def put (b : Block) (name value : String) : Block :=
  b.filter (·.1 != folded name) ++ [(folded name, [value])]

/-- A value that is added stands behind those that its name has. -/
theorem valuesFolded_addFolded_self (b : Block) (name value : String) :
    (b.addFolded name value).valuesFolded name = b.valuesFolded name ++ [value] := by
  induction b with
  | nil => simp [addFolded, valuesFolded]
  | cons e b ih =>
    obtain ⟨n, vs⟩ := e
    by_cases h : n = name
    · simp [addFolded, valuesFolded, h]
    · have ne : (name == n) = false := by simpa using fun e => h e.symm
      simpa [addFolded, valuesFolded, h, List.lookup_cons, ne] using ih

/-- A value that is added leaves the other names alone. -/
theorem valuesFolded_addFolded_of_ne (b : Block) {name other : String} (value : String)
    (h : other ≠ name) : (b.addFolded name value).valuesFolded other = b.valuesFolded other := by
  have ne : (other == name) = false := by simpa using h
  induction b with
  | nil => simp [addFolded, valuesFolded, List.lookup_cons, ne]
  | cons e b ih =>
    obtain ⟨n, vs⟩ := e
    by_cases hn : n = name
    · subst hn
      simp [addFolded, valuesFolded, List.lookup_cons, ne]
    · simp only [addFolded, hn, if_false, valuesFolded, List.lookup_cons] at ih ⊢
      split <;> simp_all

/-- A field that is added puts its value behind those that its name has. -/
theorem values_add_self (b : Block) (f : Field) :
    (b.add f).values f.name = b.values f.name ++ [f.value] :=
  b.valuesFolded_addFolded_self _ _

/-- A field that is added leaves the other names alone. -/
theorem values_add_of_ne (b : Block) (f : Field) {other : String}
    (h : folded other ≠ folded f.name) : (b.add f).values other = b.values other :=
  b.valuesFolded_addFolded_of_ne _ h

/-- A name that is replaced leaves the look-up of another name as it was. -/
theorem lookup_filter_append (b : Block) {name other : String} (value : List String)
    (h : other ≠ name) :
    (b.filter (·.1 != name) ++ [(name, value)]).lookup other = b.lookup other := by
  have ne : (other == name) = false := by simpa using h
  induction b with
  | nil => simp [List.lookup_cons, ne]
  | cons e b ih =>
    obtain ⟨n, vs⟩ := e
    by_cases hn : n = name
    · subst hn
      simpa [List.lookup_cons, ne] using ih
    · simp only [List.filter_cons, bne_iff_ne, ne_eq, hn, not_false_eq_true, if_true,
        List.cons_append, List.lookup_cons]
      split <;> simp_all

/-- A value that is put replaces those that its name has. -/
theorem values_put_self (b : Block) (name value : String) :
    (b.put name value).values name = [value] := by
  have gone : (b.filter (·.1 != folded name)).lookup (folded name) = none := by
    rw [List.lookup_eq_none_iff]
    intro e mem
    have := (List.mem_filter.1 mem).2
    simp only [bne_iff_ne, ne_eq] at this
    simpa using fun h => this h.symm
  simp [put, values, valuesFolded, List.lookup_append, gone]

/-- A value that is put leaves the other names alone. -/
theorem values_put_of_ne (b : Block) {name other : String} (value : String)
    (h : folded other ≠ folded name) : (b.put name value).values other = b.values other := by
  simp only [put, values, valuesFolded, b.lookup_filter_append [value] h]

end Block

end StreamRelay.Header
