import Mathlib.Data.List.Perm.Subperm
import StreamRelay.Resolution.Verdict

/-!
# What a walk along causes visits

Causes may come back to a fault, and they may go on for ever. What a walk visits is told by the
causes alone: it follows them as long as they lead to a fault that has not been there before, and it
gives up after `maxDepth` faults.

Main statements: the fault at a place of a walk is that many causes away, and the causes up to it
lead to no fault twice (`getElem?_walk_iff`); a chain that ends is walked like the same chain with
its end led back into it (`walk_redirect`), and what is further away than a walk goes has no part in
it (`walk_congr`).
-/

namespace StreamRelay

namespace Causes

variable {ι : Type} {c c' : Causes ι} {i j x y : ι} {k n : Nat}

/-- The fault that is `n` causes away from `i`. -/
def nth (c : Causes ι) (i : ι) : Nat → Option ι
  | 0 => some i
  | n + 1 => (c.nth i n).bind c.cause

/-- Whether the causes of `i` lead to no fault twice up to the fault that is `n` causes away. -/
def Distinct (c : Causes ι) (i : ι) (n : Nat) : Prop :=
  ∀ k m, k < m → m ≤ n → c.nth i k ≠ c.nth i m

/-- The cause of a fault is one cause nearer to all that comes after it. -/
lemma nth_succ (cause : c.cause i = some j) (n : Nat) : c.nth i (n + 1) = c.nth j n := by
  induction n with
  | zero => simp [nth, cause]
  | succ n ih => rw [nth, ih, nth]

/-- Nothing follows a fault without a cause. -/
lemma nth_succ_of_none (cause : c.cause i = none) (n : Nat) : c.nth i (n + 1) = none := by
  induction n with
  | zero => simp [nth, cause]
  | succ n ih => rw [nth, ih, Option.bind_none]

/-- Nothing comes after the end of a chain. -/
lemma nth_eq_none_of_le (ended : c.nth i k = none) (le : k ≤ n) : c.nth i n = none := by
  induction le with
  | refl => exact ended
  | step _ ih => rw [nth, ih, Option.bind_none]

/-- Whether causes lead to a fault twice depends on nothing that comes later. -/
lemma distinct_congr (same : ∀ m ≤ n, c'.nth i m = c.nth i m) :
    c'.Distinct i n ↔ c.Distinct i n := by
  apply forall_congr'
  intro k
  apply forall_congr'
  intro m
  apply imp_congr_right
  intro lt
  apply imp_congr_right
  intro le
  rw [same k (by omega), same m le]

/-- What differs up to some place differs up to those before it. -/
lemma Distinct.mono (distinct : c.Distinct i n) (le : k ≤ n) : c.Distinct i k :=
  fun a b lt within => distinct a b lt (Nat.le_trans within le)

/-- A fault is followed by others than itself if its cause is, and they do not lead back to it. -/
lemma distinct_succ_iff (cause : c.cause i = some j) (n : Nat) :
    c.Distinct i (n + 1) ↔ (∀ m ≤ n, c.nth j m ≠ some i) ∧ c.Distinct j n := by
  constructor
  · intro distinct
    refine ⟨?_, ?_⟩
    · intro m le back
      rw [← nth_succ cause] at back
      exact distinct 0 (m + 1) m.succ_pos (Nat.succ_le_succ le) back.symm
    · intro k m lt le same
      rw [← nth_succ cause, ← nth_succ cause] at same
      exact distinct (k + 1) (m + 1) (Nat.succ_lt_succ lt) (Nat.succ_le_succ le) same
  · rintro ⟨away, distinct⟩ k m lt le same
    cases m with
    | zero => cases lt
    | succ m =>
      rw [nth_succ cause] at same
      cases k with
      | zero => exact away m (Nat.le_of_succ_le_succ le) same.symm
      | succ k =>
        rw [nth_succ cause] at same
        exact distinct k m (Nat.lt_of_succ_lt_succ lt) (Nat.le_of_succ_le_succ le) same

/-! ## The places of a walk -/

section

variable [DecidableEq ι]

/-- A walk that may visit `room` faults besides those of `seen` finds at place `k` the fault that is
`k` causes away, if none of the faults up to it is one of `seen` or comes twice. -/
lemma getElem?_walkFrom_iff (c : Causes ι) (room : Nat) (seen : List ι) (i j : ι) (k : Nat) :
    (c.walkFrom room seen (some i))[k]? = some j ↔
      k < room ∧ c.nth i k = some j ∧ (∀ m ≤ k, ∀ x, c.nth i m = some x → x ∉ seen) ∧
        c.Distinct i k := by
  induction room generalizing seen i k with
  | zero => simp [walkFrom]
  | succ room ih =>
    rw [walkFrom]
    split
    case isTrue back =>
      constructor
      · intro found
        cases found
      · rintro ⟨-, -, apart, -⟩
        exact absurd back (apart 0 k.zero_le i rfl)
    case isFalse apart =>
      cases k with
      | zero =>
        constructor
        · intro found
          refine ⟨room.succ_pos, found, ?_, ?_⟩
          · intro m le x here
            rw [Nat.le_zero.1 le] at here
            cases here
            exact apart
          · intro k m lt le
            omega
        · rintro ⟨-, here, -⟩
          exact here
      | succ k =>
        rw [List.getElem?_cons_succ]
        cases cause : c.cause i with
        | none =>
          rw [nth_succ_of_none cause]
          cases room <;> simp [walkFrom]
        | some i' =>
          rw [ih, nth_succ cause, distinct_succ_iff cause]
          constructor
          · rintro ⟨lt, here, away, distinct⟩
            refine ⟨Nat.succ_lt_succ lt, here, ?_, ?_, distinct⟩
            · intro m le x there
              cases m with
              | zero =>
                cases there
                exact apart
              | succ m =>
                rw [nth_succ cause] at there
                have away := away m (Nat.le_of_succ_le_succ le) x there
                exact fun mem => away (List.mem_cons_of_mem i mem)
            · intro m le back
              exact away m le i back (List.mem_cons_self ..)
          · rintro ⟨lt, here, unseen, away, distinct⟩
            refine ⟨Nat.lt_of_succ_lt_succ lt, here, ?_, distinct⟩
            intro m le x there mem
            rcases List.mem_cons.1 mem with rfl | mem
            · exact away m le there
            · rw [← nth_succ cause] at there
              exact unseen (m + 1) (Nat.succ_le_succ le) x there mem

/-- A walk finds at place `k` the fault that is `k` causes away, unless a fault comes twice up to
there or it has given up. -/
theorem getElem?_walk_iff (c : Causes ι) (i j : ι) (k : Nat) :
    (c.walk i)[k]? = some j ↔ k < maxDepth ∧ c.nth i k = some j ∧ c.Distinct i k := by
  rw [walk, getElem?_walkFrom_iff]
  simp

/-- What a walk visits is one of the causes that follow on its start. -/
lemma exists_nth_of_mem_walk (mem : j ∈ c.walk i) : ∃ n, c.nth i n = some j := by
  obtain ⟨k, here⟩ := List.mem_iff_getElem?.1 mem
  exact ⟨k, ((getElem?_walk_iff ..).1 here).2.1⟩

/-- A walk visits its start. -/
lemma mem_walk_self (c : Causes ι) (i : ι) : i ∈ c.walk i := by
  refine List.mem_of_getElem? ((getElem?_walk_iff c i i 0).2 ⟨by decide, rfl, ?_⟩)
  intro k m lt le
  omega

/-- The cause of a fault is visited right after it, unless it has been visited before or the walk
has given up. -/
lemma getElem?_walk_succ (here : (c.walk i)[k]? = some x) (cause : c.cause x = some y)
    (new : y ∉ (c.walk i).take (k + 1)) (within : k + 1 < maxDepth) :
    (c.walk i)[k + 1]? = some y := by
  obtain ⟨_, there, distinct⟩ := (getElem?_walk_iff ..).1 here
  have next : c.nth i (k + 1) = some y := by rw [nth, there, Option.bind_some, cause]
  refine (getElem?_walk_iff ..).2 ⟨within, next, ?_⟩
  intro a b lt le same
  rcases Nat.lt_or_eq_of_le le with before | rfl
  · exact distinct a b lt (Nat.le_of_lt_succ before) same
  · rw [next] at same
    have visited : (c.walk i)[a]? = some y :=
      (getElem?_walk_iff ..).2 ⟨Nat.lt_trans lt within, same, distinct.mono (Nat.le_of_lt_succ lt)⟩
    refine new (List.mem_of_getElem? (i := a) ?_)
    rw [List.getElem?_take_of_lt lt]
    exact visited

/-- A walk that has not given up leaves out no cause. -/
lemma mem_walk_of_cause (short : (c.walk i).length < maxDepth) (mem : x ∈ c.walk i)
    (cause : c.cause x = some y) : y ∈ c.walk i := by
  obtain ⟨k, here⟩ := List.mem_iff_getElem?.1 mem
  obtain ⟨within, _⟩ := List.getElem?_eq_some_iff.1 here
  by_cases seen : y ∈ (c.walk i).take (k + 1)
  · exact List.mem_of_mem_take seen
  · exact List.mem_of_getElem? (getElem?_walk_succ here cause seen (by omega))

/-- A walk that has not given up leaves out nothing that the causes lead to. -/
lemma mem_walk_of_nth (short : (c.walk i).length < maxDepth) (mem : x ∈ c.walk i)
    (leads : c.nth x n = some y) : y ∈ c.walk i := by
  induction n generalizing y with
  | zero =>
    cases leads
    exact mem
  | succ n ih =>
    obtain ⟨z, before, cause⟩ := Option.bind_eq_some_iff.1 leads
    exact mem_walk_of_cause short (ih before) cause

/-- A walk that begins one fault earlier visits the same faults besides, unless the later one has
given up. -/
theorem mem_walk_of_mem_walk {w : ι} (cause : c.cause w = some i)
    (short : (c.walk i).length < maxDepth) (mem : j ∈ c.walk i) : j ∈ c.walk w := by
  rcases Nat.lt_or_ge (c.walk w).length maxDepth with short' | full
  · obtain ⟨n, leads⟩ := exists_nth_of_mem_walk mem
    exact mem_walk_of_nth short' (mem_walk_of_cause short' (c.mem_walk_self w) cause) leads
  · -- A walk of full length has no room for other faults than `w` and those of the later walk.
    have within : c.walk w ⊆ w :: c.walk i := by
      intro x mem
      obtain ⟨n, leads⟩ := exists_nth_of_mem_walk mem
      cases n with
      | zero =>
        cases leads
        exact List.mem_cons_self ..
      | succ n =>
        rw [nth_succ cause] at leads
        exact List.mem_cons_of_mem w (mem_walk_of_nth short (c.mem_walk_self i) leads)
    have all := (List.subperm_of_subset (c.nodup_walkFrom _ _ _) within).perm_of_length_le
      (Nat.le_trans (Nat.succ_le_of_lt short) full)
    exact all.mem_iff.2 (List.mem_cons_of_mem w mem)

/-! ## Chains that are walked alike -/

/-- Walks are the same if their faults are the same number of causes away. -/
lemma walk_ext (alike : ∀ k < maxDepth, ∀ j,
      c'.nth i k = some j ∧ c'.Distinct i k ↔ c.nth i k = some j ∧ c.Distinct i k) :
    c'.walk i = c.walk i := by
  apply List.ext_getElem?
  intro k
  apply Option.ext
  intro j
  rw [getElem?_walk_iff, getElem?_walk_iff]
  exact and_congr_right (fun within => alike k within j)

/-- What is further away than a walk goes has no part in it. -/
theorem walk_congr (alike : ∀ k < maxDepth, c'.nth i k = c.nth i k) : c'.walk i = c.walk i := by
  apply walk_ext
  intro k within j
  have same : ∀ m ≤ k, c'.nth i m = c.nth i m := fun m le => alike m (Nat.lt_of_le_of_lt le within)
  rw [same k (Nat.le_refl k), distinct_congr same]

/-- The same faults with the same causes, save that `last` is caused by `target`. -/
def redirect (c : Causes ι) (last target : ι) : Causes ι where
  fault := c.fault
  cause j := if j = last then some target else c.cause j

/-- What a fault put in front of others does not change is the walk behind it. -/
lemma walkFrom_wrap (c : Causes ι) (f : Fault) (i : ι) (room : Nat) (seen : List ι)
    (next : Option ι) :
    (c.wrap f i).walkFrom room (seen.map some) (next.map some) =
      (c.walkFrom room seen next).map some := by
  fun_induction walkFrom c room seen next with
  | case1 => rfl
  | case2 room seen => cases room <;> rfl
  | case3 room seen j mem =>
    rw [Option.map_some, walkFrom, if_pos (List.mem_map_of_mem mem), List.map_nil]
  | case4 room seen j apart ih =>
    have apart' : some j ∉ seen.map some := by
      intro mem
      obtain ⟨x, mem, same⟩ := List.mem_map.1 mem
      exact apart (Option.some.inj same ▸ mem)
    rw [Option.map_some, walkFrom, if_neg apart', List.map_cons]
    exact congrArg _ ih

/-- Behind a wrapper a walk goes as it goes without it. -/
lemma walk_wrap (c : Causes ι) (f : Fault) (i j : ι) :
    (c.wrap f i).walk (some j) = (c.walk j).map some := walkFrom_wrap c f i maxDepth [] (some j)

/-- Behind a wrapper a trail is what it is without it. -/
lemma trail_wrap (c : Causes ι) (f : Fault) (i j : ι) :
    (c.wrap f i).trail (some j) = c.trail j := by
  rw [trail, walk_wrap, List.map_map]
  rfl

variable {last target : ι}

/-- Up to its end a chain stays as it is when its end gets a cause. -/
lemma nth_redirect (here : c.nth i n = some last) (ended : c.cause last = none) (le : k ≤ n) :
    (c.redirect last target).nth i k = c.nth i k := by
  induction k with
  | zero => rfl
  | succ k ih =>
    rw [nth, nth, ih (Nat.le_of_succ_le le)]
    cases there : c.nth i k with
    | none => rfl
    | some x =>
      -- The chain goes on behind `x`, which is therefore not its end.
      have other : x ≠ last := by
        rintro rfl
        have gone : c.nth i (k + 1) = none := by rw [nth, there, Option.bind_some, ended]
        rw [nth_eq_none_of_le gone le] at here
        cases here
      simp [redirect, other]

/-- A chain that ends is walked as if its end were caused by one of its own faults. -/
theorem walk_redirect (here : c.nth i n = some last) (ended : c.cause last = none) (le : k ≤ n)
    (back : c.nth i k = some target) : (c.redirect last target).walk i = c.walk i := by
  have same : ∀ m ≤ n, (c.redirect last target).nth i m = c.nth i m := fun m le =>
    nth_redirect here ended le
  have gone : c.nth i (n + 1) = none := by rw [nth, here, Option.bind_some, ended]
  have again : (c.redirect last target).nth i (n + 1) = some target := by
    rw [nth, same n (Nat.le_refl n), here]
    simp [redirect]
  apply walk_ext
  intro m _ j
  rcases Nat.lt_or_ge n m with beyond | within
  · -- Beyond the end there is nothing in the one chain, and a fault comes twice in the other.
    constructor
    · rintro ⟨-, distinct⟩
      refine absurd ?_ (distinct k (n + 1) (Nat.lt_succ_of_le le) beyond)
      rw [same k le, back, again]
    · rintro ⟨there, -⟩
      rw [nth_eq_none_of_le gone beyond] at there
      cases there
  · rw [same m within, distinct_congr (fun a le => same a (Nat.le_trans le within))]

end

end Causes

namespace Trouble

variable {links : List Link} {prev i : Identity} {ids : List Identity} {k n : Nat}

/-- Each fault of a chain is kept further on than the one before it, or in the same place as another
sort of fault. -/
lemma lt_of_mem_identities (mem : i ∈ identities prev links) :
    prev.place < i.place ∨ prev.place = i.place ∧ prev.sort < i.sort := by
  induction links generalizing prev with
  | nil => cases mem
  | cons l links ih =>
    rw [identities] at mem
    rcases List.mem_cons.1 mem with rfl | mem
    · split
      · exact .inr ⟨rfl, Nat.lt_succ_self _⟩
      · exact .inl (Nat.lt_succ_self _)
    · have further := ih mem
      split at further
      · simp only at further
        omega
      · simp only at further
        omega

/-- No identity is given twice. -/
lemma nodup_identities (prev : Identity) (links : List Link) : (identities prev links).Nodup := by
  induction links generalizing prev with
  | nil => exact List.nodup_nil
  | cons l links ih =>
    rw [identities]
    refine List.nodup_cons.2 ⟨?_, ih _⟩
    intro mem
    rcases lt_of_mem_identities mem with lt | ⟨_, lt⟩
    · exact Nat.lt_irrefl _ lt
    · exact Nat.lt_irrefl _ lt

/-- Each link is given an identity. -/
lemma length_identities (prev : Identity) (links : List Link) :
    (identities prev links).length = links.length := by
  induction links generalizing prev with
  | nil => rfl
  | cons l links ih => rw [identities, List.length_cons, ih, List.length_cons]

/-- The successor of an identity is the one behind it. -/
lemma successor_eq (nodup : ids.Nodup) (here : ids[n]? = some i) :
    successor i ids = ids[n + 1]? := by
  induction ids generalizing n with
  | nil => cases here
  | cons j rest ih =>
    obtain ⟨apart, nodup⟩ := List.nodup_cons.1 nodup
    rw [successor]
    cases n with
    | zero =>
      cases here
      simp [List.head?_eq_getElem?]
    | succ n =>
      have other : i ≠ j := by
        rintro rfl
        exact apart (List.mem_of_getElem? here)
      rw [if_neg other, ih nodup here, List.getElem?_cons_succ]

/-- In a chain that ends, each fault is caused by the one behind it. -/
lemma cause_ofLinks (here : (identities ⟨0, 0⟩ links)[n]? = some i) :
    (ofLinks links none).causes.cause i = (identities ⟨0, 0⟩ links)[n + 1]? := by
  have nodup := nodup_identities ⟨0, 0⟩ links
  obtain ⟨within, _⟩ := List.getElem?_eq_some_iff.1 here
  show (if _ then none else successor i _) = _
  split
  · next isLast =>
    rw [List.getLast?_eq_getElem?, ← here] at isLast
    have place := (List.getElem?_inj (by omega) nodup).1 isLast
    rw [List.getElem?_eq_none (by omega)]
  · exact successor_eq nodup here

/-- In a chain that ends, the links follow on one another. -/
lemma nth_ofLinks (ne : links ≠ []) (n : Nat) :
    (ofLinks links none).causes.nth (ofLinks links none).first n =
      (identities ⟨0, 0⟩ links)[n]? := by
  induction n with
  | zero =>
    cases links with
    | nil => exact absurd rfl ne
    | cons l links => rfl
  | succ n ih =>
    rw [Causes.nth, ih]
    cases here : (identities ⟨0, 0⟩ links)[n]? with
    | none =>
      have beyond := List.getElem?_eq_none_iff.1 here
      exact (List.getElem?_eq_none (Nat.le_succ_of_le beyond)).symm
    | some i => exact cause_ofLinks here

/-- A chain whose end is led back into it is visited like the chain that ends there. -/
theorem trail_ofLinks_some (within : k < links.length) :
    (ofLinks links (some k)).trail = (ofLinks links none).trail := by
  have ne : links ≠ [] := List.ne_nil_of_length_pos (by omega)
  have length := length_identities ⟨0, 0⟩ links
  obtain ⟨last, isLast⟩ : ∃ i, (identities ⟨0, 0⟩ links)[links.length - 1]? = some i :=
    ⟨_, List.getElem?_eq_getElem (by omega)⟩
  obtain ⟨target, back⟩ : ∃ i, (identities ⟨0, 0⟩ links)[k]? = some i :=
    ⟨_, List.getElem?_eq_getElem (by omega)⟩
  have getLast : (identities ⟨0, 0⟩ links).getLast? = some last := by
    rw [List.getLast?_eq_getElem?, length, isLast]
  have ended : (ofLinks links none).causes.cause last = none := by
    rw [cause_ofLinks isLast]
    exact List.getElem?_eq_none (by omega)
  have led : (ofLinks links (some k)).causes =
      (ofLinks links none).causes.redirect last target := by
    refine congrArg (Causes.mk _) (funext fun j => ?_)
    show (if _ then (identities ⟨0, 0⟩ links)[k]? else successor j _) =
      if j = last then some target else if _ then none else successor j _
    rw [getLast, back]
    by_cases same : j = last
    · rw [if_pos (congrArg some same.symm), if_pos same]
    · have other : some last ≠ some j := fun e => same (Option.some.inj e).symm
      rw [if_neg other, if_neg same, if_neg other]
  have nthLast := (nth_ofLinks ne (links.length - 1)).trans isLast
  have nthBack : (ofLinks links none).causes.nth (ofLinks links none).first k = some target :=
    (nth_ofLinks ne k).trans back
  have walk := Causes.walk_redirect nthLast ended (by omega) nthBack
  rw [trail, trail, Causes.trail, Causes.trail, led]
  exact congrArg (List.map _) walk

end Trouble

/-! ## What is told of a walk -/

open Resolution

/-- Whether of the walks from `i` on along the causes of `c` and of `d` the same is told: the number
of the faults visited, their text, and the verdict on them. -/
structure Causes.ToldAlike {ι : Type} [DecidableEq ι] (c d : Causes ι) (i : ι) : Prop where
  number : (c.walk i).length = (d.walk i).length
  text : rendered (c.trail i) = rendered (d.trail i)
  verdict : isFailure (c.trail i) = isFailure (d.trail i)

/-- Of walks that visit the same faults the same is told. -/
lemma Causes.ToldAlike.of_walk {ι : Type} [DecidableEq ι] {c d : Causes ι} {i : ι}
    (walk : c.walk i = d.walk i) (faults : ∀ j ∈ d.walk i, c.fault j = d.fault j) :
    c.ToldAlike d i := by
  have trail : c.trail i = d.trail i := by
    rw [Causes.trail, walk, Causes.trail]
    exact List.map_congr_left faults
  exact ⟨congrArg List.length walk, congrArg rendered trail, congrArg isFailure trail⟩

/-- However faults are linked to their causes, a walk visits the first of them as long as they are
different, in order and at most `maxDepth` of them. A fault that its wrapper holds within itself is
another than the wrapper. To lead the end of a chain back into the chain changes nothing that is
told of it, and nor does what is more than `maxDepth` faults away. -/
theorem visits_distinct :
    (∀ (ι : Type) [DecidableEq ι] (c : Causes ι) (i : ι),
      (∀ k j, (c.walk i)[k]? = some j ↔
        k < Causes.maxDepth ∧ c.nth i k = some j ∧ c.Distinct i k) ∧
      (c.walk i).Nodup ∧ (c.walk i).length ≤ Causes.maxDepth) ∧
    (∀ (c : Causes Identity) (i x y : Identity) (k : Nat), (c.walk i)[k]? = some x →
      c.cause x = some y → y.place = x.place → y.sort ≠ x.sort → y ∉ (c.walk i).take k →
      k + 1 < Causes.maxDepth → (c.walk i)[k + 1]? = some y) ∧
    (∀ (ι : Type) [DecidableEq ι] (c : Causes ι) (i last target : ι) (n k : Nat),
      c.nth i n = some last → c.cause last = none → k ≤ n → c.nth i k = some target →
      (c.redirect last target).ToldAlike c i) ∧
    ∀ (ι : Type) [DecidableEq ι] (c d : Causes ι) (i : ι),
      (∀ k < Causes.maxDepth, c.nth i k = d.nth i k) →
      (∀ k < Causes.maxDepth, ∀ j, d.nth i k = some j → c.fault j = d.fault j) →
      c.ToldAlike d i := by
  refine ⟨?places, ?inside, ?loops, ?beyond⟩
  case places =>
    intro ι _ c i
    exact ⟨fun k j => c.getElem?_walk_iff i j k, c.nodup_walkFrom _ _ _, c.length_walkFrom_le _ _ _⟩
  case inside =>
    intro c i x y k here cause place sort new within
    refine Causes.getElem?_walk_succ here cause ?_ within
    rw [List.take_add_one, here]
    intro mem
    rcases List.mem_append.1 mem with mem | mem
    · exact new mem
    · rw [Option.toList_some, List.mem_singleton] at mem
      exact sort (congrArg Identity.sort mem)
  case loops =>
    intro ι _ c i last target n k here ended le back
    exact .of_walk (Causes.walk_redirect here ended le back) (fun _ _ => rfl)
  case beyond =>
    intro ι _ c d i alike faults
    refine .of_walk (Causes.walk_congr alike) ?_
    intro j mem
    obtain ⟨k, here⟩ := List.mem_iff_getElem?.1 mem
    obtain ⟨within, there, _⟩ := (d.getElem?_walk_iff i j k).1 here
    exact faults k within j there

/-- A fault that holds a failed look-up within itself. -/
def wrapper : Causes Identity :=
  (Trouble.ofLinks [{ fault := .plain "no stream" },
    { fault := .unresolved "a" "unknown", inside := true },
    { fault := .plain "unknown" }] none).causes

/-- A chain of 71 faults. -/
def ladder : Causes Nat where
  fault n := .plain (toString n)
  cause n := if n < 70 then some (n + 1) else none

/-- The same chain with a failed look-up as the first fault that a walk does not come to. -/
def ladderWithFailure : Causes Nat where
  fault n := if n < Causes.maxDepth then ladder.fault n else .unresolved "a" "unknown"
  cause := ladder.cause

/-- The failed look-up within its wrapper is visited, and the chain is walked like the loop of its
last two faults and like the chain with other faults beyond the reach of a walk. -/
theorem visits_distinct_ladder :
    ((wrapper.walk ⟨1, 0⟩)[0]? = some ⟨1, 0⟩ ∧ wrapper.cause ⟨1, 0⟩ = some ⟨1, 1⟩ ∧
      (wrapper.walk ⟨1, 0⟩)[1]? = some ⟨1, 1⟩) ∧
    (ladder.nth 0 70 = some 70 ∧ ladder.cause 70 = none ∧ ladder.nth 0 69 = some 69 ∧
      (ladder.redirect 70 69).ToldAlike ladder 0) ∧
    (∀ k < Causes.maxDepth, ladder.nth 0 k = some k) ∧ ladderWithFailure.ToldAlike ladder 0 := by
  have first : (wrapper.walk ⟨1, 0⟩)[0]? = some ⟨1, 0⟩ := by decide +kernel
  have held : wrapper.cause ⟨1, 0⟩ = some ⟨1, 1⟩ := by decide +kernel
  have last : ladder.nth 0 70 = some 70 := by decide +kernel
  have before : ladder.nth 0 69 = some 69 := by decide +kernel
  have places : ∀ k < Causes.maxDepth, ladder.nth 0 k = some k := by decide +kernel
  have same : ∀ n, ladderWithFailure.nth 0 n = ladder.nth 0 n := by
    intro n
    induction n with
    | zero => rfl
    | succ n ih => exact congrArg (Option.bind · ladder.cause) ih
  refine ⟨⟨first, held, ?_⟩, ⟨last, rfl, before, ?_⟩, places, ?_⟩
  · exact visits_distinct.2.1 wrapper ⟨1, 0⟩ ⟨1, 0⟩ ⟨1, 1⟩ 0 first held rfl (by decide) (by simp)
      (by decide)
  · exact visits_distinct.2.2.1 Nat ladder 0 70 69 70 69 last rfl (by decide) before
  · refine visits_distinct.2.2.2 Nat ladderWithFailure ladder 0 (fun k _ => same k) ?_
    intro k within j there
    rw [places k within] at there
    cases there
    exact if_pos within

end StreamRelay
