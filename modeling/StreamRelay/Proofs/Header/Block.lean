import Mathlib.Data.List.Nodup
import StreamRelay.Header.Block

/-!
# What a header block holds

A block is a finite map: each of its names stands there once, with at least one value. What it holds
is told by a function from names in their folded form to values, and adding a field or putting a
value changes that function at one name.

Main statement: a block to which fields are added one after the other holds for each name the values
of all fields with that name, in the order of the fields (`Lists.addAll`).
-/

namespace StreamRelay.Header

/-- The values of those fields whose name has this folded form. -/
def given (fields : List Field) (name : String) : List String :=
  (fields.filter (folded ·.name = name)).map (·.value)

/-- A name has values exactly if a field has this name. -/
lemma given_ne_nil_iff {fields : List Field} {name : String} :
    given fields name ≠ [] ↔ ∃ f ∈ fields, folded f.name = name := by
  simp [given]

namespace Block

/-- The names of a block. -/
def names (b : Block) : List String := b.map (·.1)

/-- The first name is that of the first entry. -/
@[simp] lemma names_cons (e : String × List String) (b : Block) :
    names (e :: b) = e.1 :: names b := rfl

variable {b : Block} {name value : String} {held held' : String → List String}

/-- A field adds its name, unless it is there already. -/
lemma names_addFolded (b : Block) (name value : String) :
    (b.addFolded name value).names = if name ∈ b.names then b.names else b.names ++ [name] := by
  induction b with
  | nil => rfl
  | cons e b ih =>
    obtain ⟨n, vs⟩ := e
    by_cases here : n = name
    · simp [addFolded, here]
    · have other : ¬name = n := Ne.symm here
      simp only [addFolded, here, if_false, names_cons, ih, List.mem_cons, other, false_or]
      split <;> rfl

/-- No name is left without a value when one is added. -/
lemma filled_addFolded (filled : ∀ e ∈ b, e.2 ≠ []) :
    ∀ e ∈ b.addFolded name value, e.2 ≠ [] := by
  induction b with
  | nil => simp [addFolded]
  | cons e b ih =>
    obtain ⟨n, vs⟩ := e
    obtain ⟨first, rest⟩ := List.forall_mem_cons.1 filled
    rw [addFolded]
    split
    · exact List.forall_mem_cons.2 ⟨by simp, rest⟩
    · exact List.forall_mem_cons.2 ⟨first, ih rest⟩

/-- Whether a block is a finite map that holds these values, in order, for names in their folded
form. -/
structure Lists (b : Block) (held : String → List String) : Prop where
  once : b.names.Nodup
  filled : ∀ e ∈ b, e.2 ≠ []
  values : ∀ name, b.valuesFolded name = held name

namespace Lists

/-- An empty block lists no values. -/
lemma empty : Lists [] (fun _ => []) where
  once := List.nodup_nil
  filled := fun _ mem => absurd mem List.not_mem_nil
  values := fun _ => rfl

/-- The names of a block are those that it holds values for. -/
lemma mem_names_iff (lists : b.Lists held) : name ∈ b.names ↔ held name ≠ [] := by
  rw [← lists.values, valuesFolded]
  cases found : b.lookup name with
  | none =>
    have absent : name ∉ b.names := by
      intro mem
      obtain ⟨e, here, rfl⟩ := List.exists_of_mem_map mem
      have other := List.lookup_eq_none_iff.1 found e here
      simp at other
    simp [absent]
  | some vs =>
    obtain ⟨front, back, rfl, _⟩ := List.lookup_eq_some_iff.1 found
    have ne := lists.filled (name, vs) (by simp)
    simp [names, ne]

/-- A field that is added gives its value to its name, behind those that it has. -/
lemma add (lists : b.Lists held) (f : Field) :
    (b.add f).Lists (fun name => held name ++ if folded f.name = name then [f.value] else [])
    where
  once := by
    rw [Block.add, names_addFolded]
    split
    · exact lists.once
    · next new =>
      rw [← List.concat_eq_append]
      exact lists.once.concat new
  filled := filled_addFolded lists.filled
  values := by
    intro name
    by_cases here : folded f.name = name
    · subst here
      rw [if_pos rfl, ← lists.values]
      exact b.valuesFolded_addFolded_self _ _
    · rw [if_neg here, List.append_nil, ← lists.values]
      exact b.valuesFolded_addFolded_of_ne _ (Ne.symm here)

/-- Fields that are added give their values to their names, one after the other. -/
lemma addAll (lists : b.Lists held) (fields : List Field) :
    (fields.foldl Block.add b).Lists (fun name => held name ++ given fields name) := by
  induction fields generalizing b held with
  | nil =>
    simp only [given, List.filter_nil, List.map_nil, List.append_nil]
    exact lists
  | cons f fields ih =>
    have later := ih (lists.add f)
    have same : ∀ name, held name ++ given (f :: fields) name =
        held name ++ (if folded f.name = name then [f.value] else []) ++ given fields name := by
      intro name
      simp only [given, List.filter_cons, decide_eq_true_eq]
      split <;> simp
    simp only [same]
    exact later

/-- A value that is put in is the only one of its name. -/
lemma put (lists : b.Lists held) (name value : String) :
    (b.put name value).Lists (fun n => if n = folded name then [value] else held n) where
  once := by
    have gone : folded name ∉ (b.filter (·.1 != folded name)).map (·.1) := by
      simp
    have kept : ((b.filter (·.1 != folded name)).map (·.1)).Nodup :=
      lists.once.sublist (List.filter_sublist.map _)
    rw [names, Block.put, List.map_append, List.map_singleton, ← List.concat_eq_append]
    exact kept.concat gone
  filled := by
    intro e mem
    rcases List.mem_append.1 mem with kept | new
    · exact lists.filled e (List.mem_filter.1 kept).1
    · rw [List.mem_singleton.1 new]
      exact List.cons_ne_nil _ _
  values := by
    intro n
    by_cases here : n = folded name
    · rw [if_pos here, here]
      exact b.values_put_self name value
    · rw [if_neg here, ← lists.values]
      exact congrArg (·.getD []) (b.lookup_filter_append [value] here)

end Lists

end Block

end StreamRelay.Header
