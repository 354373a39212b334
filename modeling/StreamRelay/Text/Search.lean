/-!
# Searching a text

`occursIn p t` looks for `p` as a run of consecutive elements of `t`; it finds one exactly when
there is one (`occursIn_iff`), the bounds of `t` may be widened (`occursIn_append`), no run is found
across an element that it lacks (`occursIn_append_cons`), and elements that it lacks may be
exchanged for others that it lacks (`occursIn_map`).
-/

namespace StreamRelay.Text

variable {α : Type} [DecidableEq α]

/-- Whether `p` is a run of consecutive elements of a list. -/
def occursIn (p : List α) : List α → Bool
  | [] => p.isEmpty
  | c :: cs => p.isPrefixOf (c :: cs) || occursIn p cs

/-- A run is found exactly when the list can be written around it. -/
theorem occursIn_iff {p t : List α} : occursIn p t = true ↔ ∃ u v, t = u ++ p ++ v := by
  induction t with
  | nil =>
    simp only [occursIn, List.isEmpty_iff]
    constructor
    · rintro rfl
      exact ⟨[], [], rfl⟩
    · rintro ⟨u, v, h⟩
      have nil := h.symm
      simp only [List.append_eq_nil_iff] at nil
      exact nil.1.2
  | cons c cs ih =>
    simp only [occursIn, Bool.or_eq_true, ih, List.isPrefixOf_iff_prefix]
    constructor
    · rintro (⟨v, hv⟩ | ⟨u, v, hv⟩)
      · exact ⟨[], v, by simpa using hv.symm⟩
      · exact ⟨c :: u, v, by simp [hv]⟩
    · rintro ⟨u, v, h⟩
      cases u with
      | nil => exact .inl ⟨v, by simpa using h.symm⟩
      | cons d u =>
        simp only [List.cons_append, List.cons.injEq] at h
        exact .inr ⟨u, v, by simpa using h.2⟩

/-- A run found in a list is found in every list around it. -/
theorem occursIn_append {p t : List α} (h : occursIn p t = true) (u v : List α) :
    occursIn p (u ++ t ++ v) = true := by
  obtain ⟨a, b, rfl⟩ := occursIn_iff.1 h
  exact occursIn_iff.2 ⟨u ++ a, b ++ v, by simp⟩

/-- The front of a list that a run is compared with ends at an element that the run lacks. -/
theorem isPrefixOf_append_cons {p : List α} {c : α} (lacks : c ∉ p) (u v : List α) :
    p.isPrefixOf (u ++ c :: v) = p.isPrefixOf u := by
  induction p generalizing u with
  | nil => simp
  | cons x p ih =>
    obtain ⟨ne, lacks⟩ := not_or.1 (fun mem => lacks (List.mem_cons.2 mem))
    cases u with
    | nil =>
      have other : (x == c) = false := beq_false_of_ne (Ne.symm ne)
      simp [List.isPrefixOf, other]
    | cons y u =>
      simp only [List.cons_append, List.isPrefixOf, ih lacks u]

/-- A run is not found across an element that it lacks. -/
theorem occursIn_append_cons {p : List α} {c : α} (lacks : c ∉ p) (u v : List α) :
    occursIn p (u ++ c :: v) = (occursIn p u || occursIn p v) := by
  induction u with
  | nil =>
    have front := isPrefixOf_append_cons lacks [] v
    rw [List.nil_append] at front
    show (p.isPrefixOf (c :: v) || occursIn p v) = (occursIn p [] || occursIn p v)
    rw [front]
    cases p <;> rfl
  | cons x u ih =>
    have front := isPrefixOf_append_cons lacks (x :: u) v
    rw [List.cons_append] at front
    rw [List.cons_append, occursIn, front, ih, occursIn, Bool.or_assoc]

/-- A run with an element that a list lacks is not found in it. -/
theorem occursIn_of_not_mem {p t : List α} {c : α} (mem : c ∈ p) (lacks : c ∉ t) :
    occursIn p t = false := by
  rw [← Bool.not_eq_true, occursIn_iff]
  rintro ⟨u, v, rfl⟩
  exact lacks (List.mem_append_left _ (List.mem_append_right _ mem))

/-- A change of elements that makes none into one of `p`, nor one of `p` into another, does not
change whether a list begins with `p`. -/
theorem isPrefixOf_map {p : List α} {f : α → α} (fixes : ∀ a ∈ p, ∀ x, f x = a ↔ x = a)
    (t : List α) : p.isPrefixOf (t.map f) = p.isPrefixOf t := by
  induction p generalizing t with
  | nil => simp
  | cons a p ih =>
    cases t with
    | nil => rfl
    | cons x t =>
      have same : (a == f x) = (a == x) := by
        rw [Bool.eq_iff_iff, beq_iff_eq, beq_iff_eq, eq_comm, fixes a (by simp), eq_comm]
      rw [List.map_cons, List.isPrefixOf, List.isPrefixOf, same,
        ih (fun b mem => fixes b (List.mem_cons_of_mem a mem))]

/-- A change of elements that makes none into one of `p`, nor one of `p` into another, does not
change whether `p` is found. -/
theorem occursIn_map {p : List α} {f : α → α} (fixes : ∀ a ∈ p, ∀ x, f x = a ↔ x = a) (t : List α) :
    occursIn p (t.map f) = occursIn p t := by
  induction t with
  | nil => rfl
  | cons x t ih =>
    have front := isPrefixOf_map fixes (x :: t)
    rw [List.map_cons] at front
    rw [List.map_cons, occursIn, occursIn, front, ih]

end StreamRelay.Text
